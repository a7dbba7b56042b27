-- The key under which the results of a request are cached: a digest of what
-- decides the complete list of results.
import FeedSearch.Content.Request
import FeedSearch.Digest.Sha256
import FeedSearch.Text.Lowercase
import FeedSearch.Text.Utf8

namespace FeedSearch.Search

/-- The octet after each part of a key. -/
def keySeparator : UInt8 := 0x1F

/-- The name of a kind filter. -/
def filterName (kind : Option Kind) : String := (kind.map Kind.name).getD "all"

/-- What decides the results: the query in lower case with single spaces, the filter, the order. -/
def keyParts (r : Request) : List String :=
  [Text.lowercase (Text.spaced r.query), filterName r.kind, r.sortBy.name, r.sortOrder.name]

/-- The octets from which a key is made. -/
def keyOctets (r : Request) : List UInt8 :=
  (keyParts r).flatMap fun part => Text.Utf8.encode part ++ [keySeparator]

def cacheKey (r : Request) : String := "search:" ++ Digest.hexText (Digest.sha256 (keyOctets r))

end FeedSearch.Search
