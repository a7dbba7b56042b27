-- The payload of a feed in one of its formats, read as records.
import FeedSearch.Feed.JsonFeed
import FeedSearch.Feed.XmlFeed

namespace FeedSearch.Feed

inductive Format where
  | json
  | xml
  deriving DecidableEq, Repr, Inhabited

def Format.name : Format → String
  | .json => "json"
  | .xml => "xml"

/-- The media type that a feed of a format is asked for. -/
def Format.mediaType : Format → String
  | .json => "application/json"
  | .xml => "application/xml"

/-- Why a payload is no feed of its format. -/
inductive PayloadFault where
  | json (f : Json.Fault)
  | xml (f : Xml.Fault)
  deriving DecidableEq, Repr

/-- The messages of a fault in a payload, from the outermost cause to the innermost. -/
def PayloadFault.chain (body : String) : PayloadFault → List String
  | .json f => [f.messageIn body.toList]
  | .xml f => f.chain

/-- Whether a fault makes its reader crash. -/
def PayloadFault.isCrash (f : PayloadFault) : Bool := f == .xml .textAfterText

/-- What was being done when a payload turned out to be faulty. -/
def parsing (format : Format) (provider : String) : String :=
  "parsing " ++ format.name ++ " feed from " ++ provider

/-- The items of a payload. -/
def items (format : Format) (body : String) : Except PayloadFault (List Item) :=
  match format with
  | .json => (jsonItems body).mapError .json
  | .xml => (xmlItems body).mapError .xml

/-- The records of a payload that a provider has delivered. -/
def records (format : Format) (provider body : String) (kind : Option Kind)
    (fetchedAt : Time.Moment) : Except PayloadFault (List Record) :=
  (items format body).map (recordsOf provider kind fetchedAt)

end FeedSearch.Feed
