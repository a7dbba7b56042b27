-- The payload of a feed, fetched from where it is: at hand, in a file, or on
-- the web, where attempts that fail are made again.
import FeedSearch.Content.Record
import FeedSearch.Feed.Location
import FeedSearch.Feed.RateLimit
import FeedSearch.Feed.Retry
import FeedSearch.Fetch.Guard
import FeedSearch.Files
import FeedSearch.Http.Url

namespace FeedSearch.Feed

open Fetch

/-! ## Attempts -/

/-- What comes of one request: a status with the octets of its body, which may break off, or no
answer at all. Chains run from the outermost cause to the innermost. -/
inductive Attempt where
  | answered (status : Nat) (body : Except (List String) (List UInt8))
  | failed (chain : List String)

/-- What the web answers to a request for an address; requests of one load are numbered from
zero. -/
abbrev Web := Http.Url → Nat → Attempt

/-- What follows from an attempt. -/
inductive Verdict where
  | loaded (text : String)
  | refused (chain : List String)
  | again (chain : List String)
  deriving DecidableEq, Repr

/-- The octets of a byte order mark. -/
def byteOrderMark : List UInt8 := [0xEF, 0xBB, 0xBF]

/-- The text of a body. A mark of its order is no part of it. -/
def bodyText (octets : List UInt8) : String :=
  Text.Utf8.decodeLossy
    (if byteOrderMark.isPrefixOf octets then octets.drop byteOrderMark.length else octets)

/-- A success ends the load, and so does an error that the answer lays on the caller. -/
def Attempt.verdict : Attempt → Verdict
  | .answered status body =>
    if 200 ≤ status ∧ status < 300 then
      match body with
      | .ok octets => .loaded (bodyText octets)
      | .error chain => .refused ("reading response body" :: chain)
    else if 400 ≤ status ∧ status < 500 then
      .refused ["client error: status code " ++ toString status]
    else .again ["unexpected status code: " ++ toString status]
  | .failed chain => .again chain

/-! ## Attempts in a row -/

/-- A payload or the causes for which there is none. -/
abbrev Loaded := Except (List String) String

/-- Whether the caller gives up before a time. -/
def givesUpBefore (limit : Option Nat) (millis : Nat) : Bool := limit.any (· < millis)

/-- Makes attempt `index`, so many milliseconds after the start, and at most `left` more, each after
its wait. Gives the time at the end. -/
def attempts (policy : RetryPolicy) (limit : Option Nat) (attempt : Nat → Attempt)
    (left index millis : Nat) : Nat × Loaded :=
  match (attempt index).verdict with
  | .loaded text => (millis, .ok text)
  | .refused chain => (millis, .error chain)
  | .again chain =>
    match left with
    | 0 =>
      let account := "request failed after " ++ toString (index + 1) ++ " attempts"
      (millis, .error (account :: chain))
    | left + 1 =>
      let next := millis + (policy.backoff (index + 1)).ceilMillis
      if givesUpBefore limit next then
        (limit.getD millis, .error ["cancelled while waiting to retry"])
      else attempts policy limit attempt left (index + 1) next

/-! ## Loading -/

/-- What is outside: files, the web, and the limiters of providers. -/
structure Surroundings where
  files : Files
  web : Web
  limiter : Limiter := .inLine

/-- The query of a request: what is asked for, and the kind if one is wanted. -/
def requestPairs (query : String) (kind : Option Kind) : List (String × String) :=
  ("q", query) :: kind.toList.map fun k => ("type", k.name)

/-- The attempt that asks an address; a text that is no address fails before it is asked. -/
def webAttempt (web : Web) (address query : String) (kind : Option Kind) (index : Nat) : Attempt :=
  match Http.Url.ofText address with
  | .error fault => .failed ["builder error", fault.message]
  | .ok url =>
    let url := url.addPairs (requestPairs query kind)
    if url.host.isReachable then web url index
    else .failed ["builder error for url (" ++ url.text ++ ")", "Parsed Url is not a valid Uri"]

/-- Loads from the web, unless the caller has given up already. -/
def loadWeb (web : Web) (policy : RetryPolicy) (address query : String) (kind : Option Kind)
    (cancel : Cancel) : Nat × Loaded :=
  match cancel with
  | .already => (0, .error ["cancelled"])
  | _ =>
    attempts policy cancel.time? (webAttempt web address query kind) policy.retries.toNat 0 0

/-- The payload of a location, after so many milliseconds. -/
def Location.load (l : Location) (s : Surroundings) (policy : RetryPolicy) (query : String)
    (kind : Option Kind) (cancel : Cancel) : Nat × Loaded :=
  match l with
  | .inline text => (0, .ok text)
  | .file path =>
    (0, (s.files.read path).mapError fun f => ["reading mock feed " ++ path, f.message])
  | .web address => loadWeb s.web policy address query kind cancel

/-! ## No web at all -/

/-- The causes of a request that cannot be sent. -/
def notSent (url : Http.Url) (causes : List String) : List String :=
  ("error sending request for url (" ++ url.text ++ ")") :: "client error (Connect)" :: causes

/-- The causes behind a machine that is known by number and does not answer. -/
def noRoute (reason : String) : List String := ["tcp connect error", reason]

def netUnreachable : List String := noRoute "Network is unreachable (os error 101)"

/-- Eight groups may stand for a number of four octets, or for many machines at once. Machines on
the same line need a line to be named. For the others there is no address to send from. -/
def noRouteV6 (groups : List Nat) : List String :=
  let first := groups.headD 0
  if groups.take 6 == [0, 0, 0, 0, 0, 0xFFFF] || 0xFF00 ≤ first then netUnreachable
  else if 0xFE80 ≤ first && first < 0xFEC0 then noRoute "Invalid argument (os error 22)"
  else noRoute "Cannot assign requested address (os error 99)"

/-- The names that every machine has for itself. -/
def ownNames : List String := ["localhost", "*"]

/-- The causes behind a name that is not found; one that is no name of a machine is not asked
for. -/
def noName (name : String) : List String :=
  let reason :=
    if Http.Host.isMachineName name then "Temporary failure in name resolution"
    else "Name or service not known"
  ["dns error", "failed to lookup address information: " ++ reason]

/-- Why a host cannot be reached from a machine without a network. -/
def outOfReach : Http.Host → List String
  | .v4 _ => netUnreachable
  | .v6 groups => noRouteV6 groups
  | .name s => if ownNames.contains s then netUnreachable else noName s

/-- A machine without a network: names of hosts are not found, and no host can be reached. -/
def noWeb : Web := fun url _ => .failed (notSent url (outOfReach url.host))

end FeedSearch.Feed
