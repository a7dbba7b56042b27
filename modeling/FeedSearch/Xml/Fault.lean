-- Faults of an XML text: markup that does not close, tags that do not match,
-- attributes and references that cannot be read.
import FeedSearch.Number.Numeral
import FeedSearch.Shape.Mismatch
import FeedSearch.Text.Utf8

namespace FeedSearch.Xml

open Number

/-! ## Markup -/

/-- What is wrong with the attributes of a tag, and at which octet of the tag. -/
inductive AttributeFault where
  | equalsExpected (offset : Nat)
  | valueExpected (offset : Nat)
  | notQuoted (offset : Nat)
  | quoteExpected (offset : Nat) (quote : Char)
  | duplicate (offset first : Nat)
  deriving DecidableEq, Repr

def AttributeFault.message : AttributeFault → String
  | .equalsExpected n =>
    "position " ++ toString n ++ ": attribute key must be directly followed by `=` or space"
  | .valueExpected n => "position " ++ toString n ++ ": `=` must be followed by an attribute value"
  | .notQuoted n =>
    "position " ++ toString n ++ ": attribute value must be enclosed in `\"` or `'`"
  | .quoteExpected n quote =>
    "position " ++ toString n ++ ": missing closing quote `" ++ quote.toString ++
      "` in attribute value"
  | .duplicate n first =>
    "position " ++ toString n ++ ": duplicated attribute, previous declaration at position " ++
      toString first

/-- Why a number in a reference stands for no character. -/
inductive CharacterFault where
  | signed
  | numeral (f : NumeralFault)
  | zero
  | noCharacter (n : Nat)
  deriving DecidableEq, Repr

namespace CharacterFault

def message : CharacterFault → String
  | .signed => "unexpected number sign"
  | .numeral f => f.message
  | .zero => "0x0 character is not permitted in XML"
  | .noCharacter n => "`" ++ toString n ++ "` is not a valid codepoint"

/-- The messages of a fault, from the outermost cause to the innermost. -/
def chain (f : CharacterFault) : List String :=
  f.message :: match f with
    | .numeral f => [f.message]
    | _ => []

end CharacterFault

/-- What is wrong with a reference in a text. -/
inductive ReferenceFault where
  | unterminated (start stop : Nat)
  | unknown (start stop : Nat) (name : String)
  | badNumber (f : CharacterFault)
  deriving DecidableEq, Repr

def rangeText (start stop : Nat) : String := toString start ++ ".." ++ toString stop

namespace ReferenceFault

def message : ReferenceFault → String
  | .unterminated start stop =>
    "Error while escaping character at range " ++ rangeText start stop ++
      ": Cannot find ';' after '&'"
  | .unknown start stop name =>
    "at " ++ rangeText start stop ++ ": unrecognized entity `" ++ name ++ "`"
  | .badNumber f => "invalid character reference: " ++ f.message

/-- The messages of a fault, from the outermost cause to the innermost. -/
def chain (f : ReferenceFault) : List String :=
  f.message :: match f with
    | .badNumber f => f.chain
    | _ => []

end ReferenceFault

/-- Why a text is not XML. -/
inductive MarkupFault where
  | openTag
  | openComment
  | openSection
  | openDoctype
  | openInstruction
  | unknownMarkup
  | doctypeWithoutName
  | missingEnd (name : String)
  | unmatchedEnd (name : String)
  | mismatchedEnd (expected found : String)
  | attribute (fault : AttributeFault)
  | reference (fault : ReferenceFault)
  deriving DecidableEq, Repr

/-- The kind of a fault, where its message names one. -/
def MarkupFault.heading : MarkupFault → String
  | .openTag | .openComment | .openSection | .openDoctype | .openInstruction | .unknownMarkup =>
    "syntax error: "
  | .doctypeWithoutName | .missingEnd _ | .unmatchedEnd _ | .mismatchedEnd .. =>
    "ill-formed document: "
  | .attribute _ => "error while parsing attribute: "
  | .reference _ => ""

/-- What is wrong, without the kind of the fault. -/
def MarkupFault.reason : MarkupFault → String
  | .openTag => "tag not closed: `>` not found before end of input"
  | .openComment => "comment not closed: `-->` not found before end of input"
  | .openSection => "CDATA not closed: `]]>` not found before end of input"
  | .openDoctype => "DOCTYPE not closed: `>` not found before end of input"
  | .openInstruction =>
    "processing instruction or xml declaration not closed: `?>` not found before end of input"
  | .unknownMarkup => "unknown or missed symbol in markup"
  | .doctypeWithoutName =>
    "`<!DOCTYPE>` declaration does not contain a name of a document type"
  | .missingEnd name => "start tag not closed: `</" ++ name ++ ">` not found before end of input"
  | .unmatchedEnd name => "close tag `</" ++ name ++ ">` does not match any open tag"
  | .mismatchedEnd expected found =>
    "expected `</" ++ expected ++ ">`, but `</" ++ found ++ ">` was found"
  | .attribute fault => fault.message
  | .reference fault => fault.message

def MarkupFault.message (f : MarkupFault) : String := f.heading ++ f.reason

/-- The messages of a fault, from the outermost cause to the innermost. -/
def MarkupFault.chain (f : MarkupFault) : List String :=
  f.message :: match f with
    | .reference f => f.chain
    | f => [f.reason]

/-! ## Contents -/

/-- A name between quotes. Octets that do not print, or are not of ASCII, are written as numbers. -/
def quotedName (name : String) : String :=
  let octet (n : Nat) : String :=
    if n == 34 then "\\\""
    else if 32 ≤ n && n ≤ 126 then (Char.ofNat n).toString
    else "0x" ++ String.ofList ((Nat.toDigits 16 n).map Char.toUpper)
  "\"" ++ String.join ((Text.Utf8.encode name).map (octet ·.toNat)) ++ "\""

/-- Why an XML text cannot be read as data of a known shape. -/
inductive Fault where
  | shape (m : Shape.Mismatch)
  | markup (f : MarkupFault)
  | badCount (f : NumeralFault)
  | unexpectedElement (name : String)
  | unexpectedEnd
  /-- Two texts stand side by side where one is read. Nothing can be made of that: the reader
  crashes. -/
  | textAfterText
  deriving DecidableEq, Repr

namespace Fault

def message : Fault → String
  | .shape m => m.message .prose
  | .markup f => f.message
  | .badCount f => f.message
  | .unexpectedElement name => "Unexpected `Event::Start(" ++ quotedName name ++ ")`"
  | .unexpectedEnd => "Unexpected `Event::Eof`"
  | .textAfterText => "text after text"

/-- The messages of a fault, from the outermost cause to the innermost. -/
def chain (f : Fault) : List String :=
  f.message :: match f with
    | .markup f => f.chain
    | .badCount f => [f.message]
    | _ => []

end Fault

end FeedSearch.Xml
