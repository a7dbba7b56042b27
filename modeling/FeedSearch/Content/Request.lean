-- Search requests, and the words in which a caller writes their parts.
import FeedSearch.Content.Record
import FeedSearch.Number.Numeral
import FeedSearch.Text.Ascii
import FeedSearch.Text.Blank

namespace FeedSearch

/-! ## Order of results -/

inductive SortKey where
  | score
  | createdAt
  | popularity
  deriving DecidableEq, Repr, Inhabited

def SortKey.name : SortKey → String
  | .score => "score"
  | .createdAt => "created_at"
  | .popularity => "popularity"

inductive SortOrder where
  | ascending
  | descending
  deriving DecidableEq, Repr, Inhabited

def SortOrder.name : SortOrder → String
  | .ascending => "asc"
  | .descending => "desc"

/-! ## Requests -/

/-- What is searched for. A page or a page size of zero means the default. -/
structure Request where
  query : String
  kind : Option Kind
  page : Nat
  pageSize : Nat
  sortBy : SortKey
  sortOrder : SortOrder
  deriving DecidableEq, Repr, Inhabited

/-- A request for a text, with everything else left to the defaults. -/
def Request.ofQuery (query : String) : Request where
  query
  kind := none
  page := 0
  pageSize := 0
  sortBy := .score
  sortOrder := .descending

/-! ## Input that is refused -/

/-- The parts of a request and of an address that can be wrong. -/
inductive InputField where
  | kind
  | page
  | pageSize
  | sortBy
  | sortOrder
  | query
  | id
  deriving DecidableEq, Repr

def InputField.name : InputField → String
  | .kind => "type"
  | .page => "page"
  | .pageSize => "page_size"
  | .sortBy => "sort_by"
  | .sortOrder => "sort_order"
  | .query => "query"
  | .id => "id"

/-- Which part is wrong, and why. -/
structure InputFault where
  field : InputField
  reason : String
  deriving DecidableEq, Repr

def InputFault.message (f : InputFault) : String :=
  "invalid input for field '" ++ f.field.name ++ "': " ++ f.reason

/-! ## Words -/

/-- A word as written, without the blanks around it; nothing if it is missing or blank. -/
def given? (raw : Option String) : Option String :=
  (raw.map Text.trim).filter (!·.isEmpty)

/-- A word that is looked up by its small letters. -/
def readWord {α : Type} (field : InputField) (noun known : String) (words : List (String × α))
    (word : String) : Except InputFault α :=
  let small := Text.asciiLower word
  match words.lookup small with
  | some a => .ok a
  | none => .error ⟨field, "unknown " ++ noun ++ " '" ++ small ++ "' (expected " ++ known ++ ")"⟩

namespace Kind

/-- Reads a kind by its name, in any case, blanks around it left out. -/
def ofName (raw : String) : Except InputFault Kind :=
  readWord .kind "content type" "video, text or all" [("video", .video), ("text", .text)]
    (Text.trim raw)

/-- Reads a filter: nothing, a blank text and `all` let every kind pass. -/
def filterOfName (raw : Option String) : Except InputFault (Option Kind) :=
  match given? raw with
  | none => .ok none
  | some word => if Text.sameWord word "all" then .ok none else (ofName word).map some

end Kind

/-- Reads a sort key; nothing and a blank text mean the score. -/
def SortKey.ofName (raw : Option String) : Except InputFault SortKey :=
  match given? raw with
  | none => .ok .score
  | some word =>
    readWord .sortBy "sort key" "score, created_at or popularity"
      [("score", .score), ("created_at", .createdAt), ("popularity", .popularity)] word

/-- Reads a sort order; nothing and a blank text mean descending. -/
def SortOrder.ofName (raw : Option String) : Except InputFault SortOrder :=
  match given? raw with
  | none => .ok .descending
  | some word =>
    if Text.sameWord word "asc" then .ok .ascending
    else if Text.sameWord word "desc" then .ok .descending
    else .error ⟨.sortOrder, "unknown sort order '" ++ word ++ "' (expected asc or desc)"⟩

/-- Reads a count of 64 bits; nothing and a blank text mean zero. -/
def readCount (field : InputField) (raw : Option String) : Except InputFault Nat :=
  match given? raw with
  | none => .ok 0
  | some word =>
    match Number.count? word with
    | some n => .ok n
    | none => .error ⟨field, "'" ++ word ++ "' is not a non-negative integer"⟩

/-! ## Parameters -/

/-- The parts of a request as a caller writes them. -/
structure RequestWords where
  query : Option String
  kind : Option String
  page : Option String
  pageSize : Option String
  sortBy : Option String
  sortOrder : Option String
  deriving DecidableEq, Repr, Inhabited

/-- The request that the words say, or the first part that is wrong. -/
def RequestWords.request (w : RequestWords) : Except InputFault Request := do
  let kind ← Kind.filterOfName w.kind
  let page ← readCount .page w.page
  let pageSize ← readCount .pageSize w.pageSize
  let sortBy ← SortKey.ofName w.sortBy
  let sortOrder ← SortOrder.ofName w.sortOrder
  return { query := w.query.getD "", kind, page, pageSize, sortBy, sortOrder }

end FeedSearch
