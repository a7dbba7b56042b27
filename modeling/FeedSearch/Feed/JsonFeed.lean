-- Feeds in JSON: an object with a list of items under `contents`.
import FeedSearch.Feed.Item
import FeedSearch.Json.Decode
import FeedSearch.Time.Stamp

namespace FeedSearch.Feed

open Json

/-! ## Metrics -/

/-- The counters of an item; a counter that is missing or null counts as zero. -/
structure Metrics where
  views : Option (Option Nat)
  likes : Option (Option Nat)
  readingTime : Option (Option Nat)
  reactions : Option (Option Nat)

def Metrics.empty : Metrics := ⟨none, none, none, none⟩

/-- A counter as it is kept. -/
def counter (n : Option (Option Nat)) : UInt64 := (n.join.getD 0).toUInt64

def metricsLayout : Layout Metrics Metrics where
  title := "JsonMetrics"
  slots :=
    let count := decodeOption (decodeCount "u64")
    [ .of "views" true count (·.views) fun n m => { m with views := some n },
      .of "likes" true count (·.likes) fun n m => { m with likes := some n },
      .of "reading_time" true count (·.readingTime) fun n m => { m with readingTime := some n },
      .of "reactions" true count (·.reactions) fun n m => { m with reactions := some n } ]
  empty := .empty
  build := .ok

/-! ## Items -/

/-- The fields of an item as far as they have been read. -/
structure ItemFields where
  id : Option (Option String)
  title : Option (Option String)
  kind : Option (Option String)
  metrics : Option (Option Metrics)
  publishedAt : Option (Option String)

def ItemFields.empty : ItemFields := ⟨none, none, none, none, none⟩

/-- An id is a text or a signed number of 64 bits. -/
def idOf? : Node → Option String
  | .text _ _ ⟨.ok s, _⟩ => some s
  | .plain _ _ ⟨.ok (.number (.count n)), _⟩ =>
    if n < Number.signSize then some (toString n) else none
  | .plain _ _ ⟨.ok (.number (.negative n)), _⟩ => some (toString n)
  | _ => none

def decodeId : Decoder String :=
  decodeAny (.other "data did not match any variant of untagged enum JsonId") idOf?

/-- The item that the fields say. -/
def ItemFields.item (f : ItemFields) : Item :=
  let metrics := f.metrics.join.getD .empty
  { id := f.id.join.getD ""
    title := f.title.join.getD ""
    kind := kindOrText (f.kind.join.getD "")
    views := counter metrics.views
    likes := counter metrics.likes
    readingTime := counter metrics.readingTime
    reactions := counter metrics.reactions
    createdAt := f.publishedAt.join.bind Time.stamp? }

def itemLayout : Layout ItemFields Item where
  title := "JsonItem"
  slots :=
    let text := decodeOption decodeText
    [ .of "id" false (decodeOption decodeId) (·.id) fun x f => { f with id := some x },
      .of "title" true text (·.title) fun x f => { f with title := some x },
      .of "type" true text (·.kind) fun x f => { f with kind := some x },
      .of "metrics" true (decodeOption (decodeStruct metricsLayout)) (·.metrics)
        fun x f => { f with metrics := some x },
      .of "published_at" true text (·.publishedAt) fun x f => { f with publishedAt := some x } ]
  empty := .empty
  build f := .ok f.item

/-! ## The feed -/

/-- The items of a feed, once they have been read. -/
def feedLayout : Layout (Option (List Item)) (List Item) where
  title := "JsonFeed"
  slots := [ .of "contents" true (decodeList (decodeStruct itemLayout)) id fun x _ => some x ]
  empty := none
  build items := .ok (items.getD [])

/-- The items of a JSON feed. -/
def jsonItems (body : String) : Except Fault (List Item) := decode (decodeStruct feedLayout) body

end FeedSearch.Feed
