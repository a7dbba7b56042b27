-- Feeds in XML: a root element that holds `items`, which holds one `item` after
-- another.
import FeedSearch.Feed.Item
import FeedSearch.Time.FeedDate
import FeedSearch.Xml.Decode

namespace FeedSearch.Feed

open Xml

/-! ## Statistics -/

/-- The counters of an item as far as they have been read. -/
structure Stats where
  views : Option UInt64
  likes : Option UInt64
  readingTime : Option UInt64
  reactions : Option UInt64

def Stats.empty : Stats := ⟨none, none, none, none⟩

def statsSlots : List (Slot Stats) := [
  .count "views" (·.views.isSome) fun n s => { s with views := some n },
  .count "likes" (·.likes.isSome) fun n s => { s with likes := some n },
  .count "reading_time" (·.readingTime.isSome) fun n s => { s with readingTime := some n },
  .count "reactions" (·.reactions.isSome) fun n s => { s with reactions := some n }]

/-! ## Items -/

/-- The fields of an item as far as they have been read. -/
structure EntryFields where
  id : Option String
  headline : Option String
  kind : Option String
  stats : Option Stats
  publicationDate : Option String

def EntryFields.empty : EntryFields := ⟨none, none, none, none, none⟩

def statsSlot : Slot EntryFields where
  name := "stats"
  repeats := false
  title := "struct Stats"
  isFilled f := f.stats.isSome
  fill f tag children ending := do
    let stats ← readStruct statsSlots .empty tag children ending
    return { f with stats := some stats }

def entrySlots : List (Slot EntryFields) := [
  .text "id" (·.id.isSome) fun x f => { f with id := some x },
  .text "headline" (·.headline.isSome) fun x f => { f with headline := some x },
  .text "type" (·.kind.isSome) fun x f => { f with kind := some x },
  statsSlot,
  .text "publication_date" (·.publicationDate.isSome)
    fun x f => { f with publicationDate := some x }]

/-- The item that the fields say. -/
def EntryFields.item (f : EntryFields) : Item :=
  let stats := f.stats.getD .empty
  { id := f.id.getD ""
    title := f.headline.getD ""
    kind := kindOrText (f.kind.getD "")
    views := stats.views.getD 0
    likes := stats.likes.getD 0
    readingTime := stats.readingTime.getD 0
    reactions := stats.reactions.getD 0
    createdAt := f.publicationDate.bind Time.feedDate? }

/-! ## The feed -/

/-- The items read so far, latest first; none before the first. -/
abbrev Entries := Option (List Item)

def entriesSlot : Slot Entries where
  name := "item"
  repeats := true
  title := "struct Item"
  isFilled items := items.isSome
  fill items tag children ending := do
    let fields ← readStruct entrySlots .empty tag children ending
    return some (fields.item :: items.getD [])

def itemsSlot : Slot (Option Entries) where
  name := "items"
  repeats := false
  title := "struct Items"
  isFilled items := items.isSome
  fill _ tag children ending := do
    let items ← readStruct [entriesSlot] none tag children ending
    return some items

/-- The items of an XML feed. -/
def xmlItems (body : String) : Except Fault (List Item) := do
  let items ← readRoot "struct Feed" (readStruct [itemsSlot] none) (.ofText body.toList)
  return (items.join.getD []).reverse

end FeedSearch.Feed
