-- Requests to a server and its responses.
import FeedSearch.Json.Value
import FeedSearch.Text.Ascii

namespace FeedSearch.Http

/-! ## Headers -/

/-- Names and values, in order. The case of a name does not count. -/
abbrev Headers := List (String × String)

/-- The first value of a name. -/
def Headers.get? (hs : Headers) (name : String) : Option String :=
  (hs.find? fun h => Text.sameWord h.1 name).map (·.2)

/-- A header with the value, if there is one. -/
def Headers.ofOption (name : String) (value : Option String) : Headers :=
  value.toList.map fun v => (name, v)

/-! ## Requests -/

inductive Method where
  | get
  | head
  | options
  | other (name : String)
  deriving DecidableEq, Repr

def Method.ofName : String → Method
  | "GET" => .get
  | "HEAD" => .head
  | "OPTIONS" => .options
  | name => .other name

/-- A request; the path and the query are as they were sent. -/
structure Request where
  method : Method
  path : String
  query : String
  headers : Headers
  deriving DecidableEq, Repr

def isSchemeChar (c : Char) : Bool := c.isAlphanum || c == '+' || c == '-' || c == '.'

/-- A target without the scheme and the host that may stand at its front. -/
def localTarget (target : List Char) : List Char :=
  let scheme := target.takeWhile isSchemeChar
  match target.drop scheme.length with
  | ':' :: '/' :: '/' :: rest =>
    let path := rest.dropWhile fun c => c != '/' && c != '?'
    if path.head? == some '/' then path else '/' :: path
  | _ => target

/-- The request for a target: a path, and a query after a question mark. What follows a number sign
is not sent. -/
def Request.ofTarget (method : Method) (target : String) (headers : Headers) : Request :=
  let sent := localTarget (target.toList.takeWhile (· != '#'))
  { method
    path := String.ofList (sent.takeWhile (· != '?'))
    query := String.ofList ((sent.dropWhile (· != '?')).drop 1)
    headers }

/-! ## Responses -/

inductive Body where
  | empty
  | text (s : String)
  | json (v : Json.Value)

structure Response where
  status : Nat
  headers : Headers
  body : Body

namespace Response

def ofJson (status : Nat) (v : Json.Value) : Response :=
  { status, headers := [("content-type", "application/json")], body := .json v }

def ofText (status : Nat) (s : String) : Response :=
  { status, headers := [("content-type", "text/plain; charset=utf-8")], body := .text s }

/-- A response without a body. -/
def bare (status : Nat) : Response := { status, headers := [], body := .empty }

def addHeaders (r : Response) (headers : Headers) : Response :=
  { r with headers := r.headers ++ headers }

/-- The response to a request that asks for the headers alone. -/
def withoutBody (r : Response) : Response := { r with body := .empty }

end Response

end FeedSearch.Http
