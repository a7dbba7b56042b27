-- An XML text as a tree, up to the place where it breaks off.
import FeedSearch.Xml.Text

namespace FeedSearch.Xml

/-! ## The tree -/

/-- Where a text breaks off: it ends, or it is no XML any more. -/
inductive Break where
  | ended
  | markup (f : MarkupFault)
  deriving Repr

inductive Node where
  | element (tag : Tag) (children : List Node) (ending : Option Break)
  | text (content : Except ReferenceFault (List Char))

/-- What stands outside of all elements, and where the text breaks off there. -/
structure Document where
  nodes : List Node
  ending : Break

/-- The fault of a break, seen from inside an element. -/
def Break.fault (name : List Char) : Break → Fault
  | .ended => .markup (.missingEnd (String.ofList name))
  | .markup f => .markup f

/-! ## Building -/

/-- An open element. Its children so far stand latest first. -/
structure Frame where
  tag : Tag
  children : List Node

inductive State where
  | inside (frames : List Frame) (outer : List Node)
  | halted (document : Document)

namespace State

/-- Adds a node to the innermost element, or outside of all elements. -/
def add (node : Node) : List Frame → List Node → State
  | [], outer => .inside [] (node :: outer)
  | frame :: frames, outer =>
    .inside ({ frame with children := node :: frame.children } :: frames) outer

/-- The document that breaks off inside the open elements. -/
def abandon (b : Break) : List Frame → List Node → Document
  | [], outer => { nodes := outer.reverse, ending := b }
  | [frame], outer =>
    let node := Node.element frame.tag frame.children.reverse (some b)
    { nodes := (node :: outer).reverse, ending := b }
  | frame :: parent :: frames, outer =>
    let node := Node.element frame.tag frame.children.reverse (some b)
    abandon b ({ parent with children := node :: parent.children } :: frames) outer
termination_by frames => frames.length

/-- The state after one more step. -/
def next (state : State) (step : Step) : State :=
  match state, step with
  | .halted document, _ => .halted document
  | .inside frames outer, .opening tag => .inside ({ tag, children := [] } :: frames) outer
  | .inside frames outer, .text content => add (.text content) frames outer
  | .inside frames outer, .broken f => .halted (abandon (.markup f) frames outer)
  | .inside [] outer, .closing name =>
    .halted (abandon (.markup (.unmatchedEnd (String.ofList name))) [] outer)
  | .inside (frame :: frames) outer, .closing name =>
    if frame.tag.name == name then
      add (.element frame.tag frame.children.reverse none) frames outer
    else
      .halted (abandon
        (.markup (.mismatchedEnd (String.ofList frame.tag.name) (String.ofList name)))
        (frame :: frames) outer)

def finish : State → Document
  | .halted document => document
  | .inside frames outer => abandon .ended frames outer

end State

/-- The tree of a text. -/
def Document.ofText (text : List Char) : Document :=
  ((steps text).foldl State.next (.inside [] [])).finish

end FeedSearch.Xml
