-- Where the payload of a feed comes from.
import FeedSearch.Text.Blank

namespace FeedSearch.Feed

/-- A text at hand, a file that is read on every fetch, or a web address. -/
inductive Location where
  | inline (text : String)
  | file (path : String)
  | web (address : String)
  deriving DecidableEq, Repr

namespace Location

/-- Web addresses are told by their scheme; everything else is the path of a file. -/
def ofText (s : String) : Location :=
  let s := Text.trim s
  if s.startsWith "http://" || s.startsWith "https://" then .web s else .file s

def describe : Location → String
  | .inline _ => "inline"
  | .file path => path
  | .web address => address

end Location

end FeedSearch.Feed
