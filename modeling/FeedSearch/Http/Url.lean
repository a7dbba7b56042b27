-- Web addresses: read in the lenient way of browsers, and written in one form.
import FeedSearch.Http.Form
import FeedSearch.Http.Host

namespace FeedSearch.Http

/-! ## Addresses -/

/-- A web address. The parts are written as they stand in its text. -/
structure Url where
  scheme : String
  host : Host
  port : Option Nat
  path : String
  query : Option String
  fragment : Option String
  deriving DecidableEq, Repr

/-- Why a text is no web address. -/
inductive UrlFault where
  | noBase
  | host (f : HostFault)
  | badPort
  deriving DecidableEq, Repr

def UrlFault.message : UrlFault → String
  | .noBase => "relative URL without a base"
  | .host f => f.message
  | .badPort => "invalid port number"

namespace Url

/-- A part with the mark before it, or nothing. -/
def marked (mark : String) : Option String → String
  | none => ""
  | some s => mark ++ s

def text (u : Url) : String :=
  u.scheme ++ "://" ++ u.host.text ++ marked ":" (u.port.map toString) ++ u.path ++
    marked "?" u.query ++ marked "#" u.fragment

/-! ## Characters -/

/-- The characters that show and that nothing gives a meaning to in a part. -/
def isShown (c : Char) : Bool := ' ' < c && c < '\x7f'

def isFragmentPlain (c : Char) : Bool := isShown c && ['"', '<', '>', '`'].all (· != c)

def isQueryPlain (c : Char) : Bool := isShown c && ['"', '#', '<', '>', '\''].all (· != c)

def isPathPlain (c : Char) : Bool := isFragmentPlain c && ['#', '?', '\x7b', '\x7d'].all (· != c)

def isSlash (c : Char) : Bool := c == '/' || c == '\\'

/-- The largest port. -/
def maxPort : Nat := 0xFFFF

/-! ## Paths -/

/-- One dot, written plainly or as an escape. -/
def isDot (s : String) : Bool := [".", "%2e"].contains (Text.asciiLower s)

def isDoubleDot (s : String) : Bool :=
  ["..", ".%2e", "%2e.", "%2e%2e"].contains (Text.asciiLower s)

/-- A letter with a colon or a bar, like the name of a drive. -/
def isDrive (s : String) : Bool :=
  match s.toList with
  | [letter, mark] => letter.isAlpha && (mark == ':' || mark == '|')
  | _ => false

/-- The segments after one step back. A drive is not left. -/
def stepBack : List String → List String
  | [] => []
  | s :: before => if isDrive s then s :: before else before

/-- Adds a segment to those before it, which stand latest first. Dots move within the path; a last
one leaves an empty segment. -/
def addSegment (before : List String) (segment : String) (isLast : Bool) : List String :=
  if isDoubleDot segment then if isLast then "" :: stepBack before else stepBack before
  else if isDot segment then if isLast then "" :: before else before
  else escapeText isPathPlain segment :: before

def segments (before : List String) : List String → List String
  | [] => before.reverse
  | s :: rest => segments (addSegment before s rest.isEmpty) rest

/-- The path of an address; `cs` starts with a slash or is empty. -/
def readPath (cs : List Char) : String :=
  let parts := ((cs.drop 1).splitOnP isSlash).map String.ofList
  "/" ++ "/".intercalate (segments [] parts)

/-! ## Reading -/

/-- The first characters that do not satisfy a test, and the rest. -/
def cutAt (p : Char → Bool) (cs : List Char) : List Char × List Char :=
  (cs.takeWhile (!p ·), cs.dropWhile (!p ·))

/-- The part after the last of a mark. -/
def afterLast (mark : Char) (cs : List Char) : List Char :=
  (cs.reverse.takeWhile (· != mark)).reverse

def standardPort (scheme : String) : Nat := if scheme == "https" then 443 else 80

/-- The port of an address; the standard one is left out. -/
def readPort (scheme : String) (digits : List Char) : Except UrlFault (Option Nat) :=
  if digits.isEmpty then .ok none
  else
    match (Number.natural? digits).filter (· ≤ maxPort) with
    | none => .error .badPort
    | some n => .ok (if n == standardPort scheme then none else some n)

/-- Host and port. Colons between brackets belong to the host; `inside` says that a bracket is
open. -/
def splitHost (inside : Bool) : List Char → List Char × List Char
  | [] => ([], [])
  | c :: rest =>
    if c == ':' && !inside then ([], rest)
    else
      let (host, port) := splitHost (c == '[' || (inside && c != ']')) rest
      (c :: host, port)

/-- The scheme of a text, and what stands after the slashes. -/
def readScheme (cs : List Char) : Except UrlFault (String × List Char) :=
  let (scheme, rest) := cutAt (· == ':') cs
  let name := Text.asciiLower (String.ofList scheme)
  if rest.isEmpty || !(name == "http" || name == "https") then .error .noBase
  else .ok (name, (rest.drop 1).dropWhile isSlash)

/-- The text without the controls and spaces at its two ends. -/
def trimControls (cs : List Char) : List Char :=
  ((cs.dropWhile (· ≤ ' ')).reverse.dropWhile (· ≤ ' ')).reverse

/-- Reads an address with the scheme of the web. Line ends and tabs in it do not count. -/
def ofText (s : String) : Except UrlFault Url := do
  let cs := (trimControls s.toList).filter fun c => ['\t', '\n', '\r'].all (· != c)
  let (scheme, cs) ← readScheme cs
  let (authority, cs) := cutAt (fun c => isSlash c || c == '?' || c == '#') cs
  let (host, port) := splitHost false (afterLast '@' authority)
  let host ← (Host.ofText host).mapError .host
  let port ← readPort scheme port
  let (path, cs) := cutAt (fun c => c == '?' || c == '#') cs
  let (query, cs) := cutAt (· == '#') cs
  return {
    scheme
    host
    port
    path := readPath path
    query :=
      if query.isEmpty then none
      else some (escapeText isQueryPlain (String.ofList (query.drop 1)))
    fragment :=
      if cs.isEmpty then none else some (escapeText isFragmentPlain (String.ofList (cs.drop 1))) }

/-! ## Queries -/

/-- The address with more pairs in its query. -/
def addPairs (u : Url) (pairs : List (String × String)) : Url :=
  let before := u.query.getD ""
  let mark := if before.isEmpty || pairs.isEmpty then "" else "&"
  let query := before ++ mark ++ formText pairs
  { u with query := if query.isEmpty then none else some query }

end Url

end FeedSearch.Http
