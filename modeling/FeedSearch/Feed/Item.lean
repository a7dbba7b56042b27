-- Items of a feed, whatever the format it came in, and the records made of them.
import FeedSearch.Content.Record
import FeedSearch.Text.Ascii
import FeedSearch.Text.Blank
import FeedSearch.Text.Reference

namespace FeedSearch.Feed

/-! ## Titles -/

/-- The most characters of a title. -/
def maxTitle : Nat := 500

/-- A title as it is kept: references read, one space between words, cut at the longest title. Angle
brackets are content like any other. -/
def cleanTitle (raw : String) : String :=
  String.ofList ((Text.spaced (Text.decodeReferences raw)).toList.take maxTitle)

/-! ## Items -/

/-- Everything that is not called a video is a text. -/
def kindOrText (raw : String) : Kind :=
  if Text.sameWord (Text.trim raw) "video" then .video else .text

/-- What an item says, before it becomes a record. -/
structure Item where
  id : String
  title : String
  kind : Kind
  views : UInt64
  likes : UInt64
  readingTime : UInt64
  reactions : UInt64
  createdAt : Option Time.Moment
  deriving DecidableEq, Repr

/-- The record of an item. An item without a date dates from the fetch. -/
def Item.record (provider : String) (fetchedAt : Time.Moment) (item : Item) : Record where
  id := none
  providerId := provider ++ "_" ++ Text.trim item.id
  provider
  title := cleanTitle item.title
  kind := item.kind
  views := item.views
  likes := item.likes
  readingTime := item.readingTime
  reactions := item.reactions
  score := .zero
  createdAt := item.createdAt.getD fetchedAt

/-- Whether an item becomes a record: it has an id and is of the kind that is wanted. -/
def Item.isWanted (kind : Option Kind) (item : Item) : Bool :=
  !Text.isBlankText item.id && item.kind.passes kind

/-- The records of the wanted items, in the order of the feed. -/
def recordsOf (provider : String) (kind : Option Kind) (fetchedAt : Time.Moment)
    (items : List Item) : List Record :=
  (items.filter (·.isWanted kind)).map (·.record provider fetchedAt)

end FeedSearch.Feed
