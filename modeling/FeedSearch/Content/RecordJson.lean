-- Records and requests as JSON.
import FeedSearch.Content.Request
import FeedSearch.Json.Decode
import FeedSearch.Json.Value
import FeedSearch.Time.LooseStamp

namespace FeedSearch

open Json

/-! ## Writing -/

/-- A counter of 64 bits. -/
def Json.Value.counter (n : UInt64) : Value := .count n.toNat

/-- A record as an object of its eleven fields. -/
def Record.toJson (r : Record) : Value :=
  .object [
    ("id", .optional .integer r.id),
    ("provider_id", .text r.providerId),
    ("provider", .text r.provider),
    ("title", .text r.title),
    ("type", .text r.kind.name),
    ("views", .counter r.views),
    ("likes", .counter r.likes),
    ("reading_time", .counter r.readingTime),
    ("reactions", .counter r.reactions),
    ("score", .number (.float r.score.bits)),
    ("created_at", .text r.createdAt.text)]

/-! ## Reading parts -/

def kindNames : List (String × Kind) := [("video", .video), ("text", .text)]

def decodeKind : Decoder Kind := decodeVariant kindNames

def sortKeyNames : List (String × SortKey) :=
  [("score", .score), ("created_at", .createdAt), ("popularity", .popularity)]

def sortOrderNames : List (String × SortOrder) := [("asc", .ascending), ("desc", .descending)]

def decodeMoment : Decoder Time.Moment :=
  decodeTextAs "an RFC 3339 formatted date and time string" fun s =>
    match Time.looseStamp s with
    | .ok m => .ok m
    | .error e => .error (.other e.message)

def decodeCounter : Decoder UInt64 := fun r node => (decodeCount "u64" r node).map Nat.toUInt64

/-- A field that must have been read. -/
def required {α : Type} (name : String) : Option α → Except Shape.Mismatch α
  | some a => .ok a
  | none => .error (.missingField name)

/-! ## Reading a record -/

/-- The fields of a record as far as they have been read. -/
structure RecordFields where
  id : Option (Option Int)
  providerId : Option String
  provider : Option String
  title : Option String
  kind : Option Kind
  views : Option UInt64
  likes : Option UInt64
  readingTime : Option UInt64
  reactions : Option UInt64
  score : Option Float
  createdAt : Option Time.Moment

def RecordFields.empty : RecordFields :=
  ⟨none, none, none, none, none, none, none, none, none, none, none⟩

/-- The record that the fields say, or the first field that must be there and is not. Counters and
the score may be left out. -/
def RecordFields.record (f : RecordFields) : Except Shape.Mismatch Record := do
  let providerId ← required "provider_id" f.providerId
  let provider ← required "provider" f.provider
  let title ← required "title" f.title
  let kind ← required "type" f.kind
  let createdAt ← required "created_at" f.createdAt
  return {
    id := f.id.join
    providerId, provider, title, kind
    views := f.views.getD 0
    likes := f.likes.getD 0
    readingTime := f.readingTime.getD 0
    reactions := f.reactions.getD 0
    score := Score.ofFloat (f.score.getD 0.0)
    createdAt }

def recordLayout : Layout RecordFields Record where
  title := "ContentRecord"
  slots := [
    .of "id" false (decodeOption decodeSigned) (·.id) fun x f => { f with id := some x },
    .of "provider_id" false decodeText (·.providerId) fun x f => { f with providerId := some x },
    .of "provider" false decodeText (·.provider) fun x f => { f with provider := some x },
    .of "title" false decodeText (·.title) fun x f => { f with title := some x },
    .of "type" false decodeKind (·.kind) fun x f => { f with kind := some x },
    .of "views" true decodeCounter (·.views) fun x f => { f with views := some x },
    .of "likes" true decodeCounter (·.likes) fun x f => { f with likes := some x },
    .of "reading_time" true decodeCounter (·.readingTime)
      fun x f => { f with readingTime := some x },
    .of "reactions" true decodeCounter (·.reactions) fun x f => { f with reactions := some x },
    .of "score" true decodeFloat (·.score) fun x f => { f with score := some x },
    .of "created_at" false decodeMoment (·.createdAt) fun x f => { f with createdAt := some x }]
  empty := .empty
  build f := f.record

def Record.ofJson (text : String) : Except Fault Record := decode (decodeStruct recordLayout) text

/-! ## Reading a request -/

/-- The fields of a request as far as they have been read. -/
structure RequestFields where
  query : Option String
  kind : Option (Option Kind)
  page : Option Nat
  pageSize : Option Nat
  sortBy : Option SortKey
  sortOrder : Option SortOrder

def RequestFields.empty : RequestFields := ⟨none, none, none, none, none, none⟩

/-- The request that the fields say; only the kind may be left out. -/
def RequestFields.request (f : RequestFields) : Except Shape.Mismatch Request := do
  let query ← required "query" f.query
  let page ← required "page" f.page
  let pageSize ← required "page_size" f.pageSize
  let sortBy ← required "sort_by" f.sortBy
  let sortOrder ← required "sort_order" f.sortOrder
  return { query, kind := f.kind.join, page, pageSize, sortBy, sortOrder }

def requestLayout : Layout RequestFields Request where
  title := "SearchRequest"
  slots := [
    .of "query" false decodeText (·.query) fun x f => { f with query := some x },
    .of "kind" false (decodeOption decodeKind) (·.kind) fun x f => { f with kind := some x },
    .of "page" false (decodeCount "usize") (·.page) fun x f => { f with page := some x },
    .of "page_size" false (decodeCount "usize") (·.pageSize)
      fun x f => { f with pageSize := some x },
    .of "sort_by" false (decodeVariant sortKeyNames) (·.sortBy)
      fun x f => { f with sortBy := some x },
    .of "sort_order" false (decodeVariant sortOrderNames) (·.sortOrder)
      fun x f => { f with sortOrder := some x }]
  empty := .empty
  build f := f.request

def Request.ofJson (text : String) : Except Fault Request :=
  decode (decodeStruct requestLayout) text

end FeedSearch
