-- The store of records. It gives every natural key one row and one id, takes
-- batches whole or not at all, and answers searches in a fixed order.
import FeedSearch.Search.Paging
import FeedSearch.Text.Lowercase

namespace FeedSearch

/-! ## Rows -/

/-- Rows by id, ids in ascending order, and the id of every natural key. -/
structure Store where
  lastId : Nat
  byId : List (Int × Record)
  byKey : List (NaturalKey × Int)
  deriving Repr

/-- Why the store does not answer. -/
inductive StoreError where
  | notFound (id : Int)
  | invalidRecord (index : Nat) (reason : String)
  | unavailable (reason : String)
  deriving DecidableEq, Repr

def StoreError.message : StoreError → String
  | .notFound id => "content " ++ toString id ++ " not found"
  | .invalidRecord index reason => "invalid record at index " ++ toString index ++ ": " ++ reason
  | .unavailable reason => "store unavailable: " ++ reason

namespace Store

def empty : Store := { lastId := 0, byId := [], byKey := [] }

def size (s : Store) : Nat := s.byId.length

/-- All rows, by id. -/
def rows (s : Store) : List Record := s.byId.map (·.2)

def get (s : Store) (id : Int) : Except StoreError Record :=
  match s.byId.lookup id with
  | some r => .ok r
  | none => .error (.notFound id)

/-! ## Batches -/

/-- What a record lacks that the store asks for. -/
inductive RecordFault where
  | blankProvider
  | blankProviderId
  | scoreNotFinite
  deriving DecidableEq, Repr

def RecordFault.message : RecordFault → String
  | .blankProvider => "empty provider name"
  | .blankProviderId => "empty provider id"
  | .scoreNotFinite => "score is not finite"

def fault? (r : Record) : Option RecordFault :=
  if Text.isBlankText r.provider then some .blankProvider
  else if Text.isBlankText r.providerId then some .blankProviderId
  else if !r.score.isFinite then some .scoreNotFinite
  else none

/-- The first record with a fault; `index` is the place of the first record of the list. -/
def validateFrom (index : Nat) : List Record → Except StoreError Unit
  | [] => .ok ()
  | r :: rest =>
    match fault? r with
    | some f => .error (.invalidRecord index f.message)
    | none => validateFrom (index + 1) rest

def validate (records : List Record) : Except StoreError Unit := validateFrom 0 records

/-- A row after a later record of the same natural key: the key, the id and the time of creation
stay. -/
def revise (row r : Record) : Record :=
  { row with
    title := r.title
    kind := r.kind
    views := r.views
    likes := r.likes
    readingTime := r.readingTime
    reactions := r.reactions
    score := r.score }

/-- Writes one record and gives the id of its row. -/
def upsertOne (s : Store) (r : Record) : Int × Store :=
  match s.byKey.lookup r.naturalKey with
  | some id =>
    (id, { s with byId := s.byId.map fun e => if e.1 == id then (e.1, revise e.2 r) else e })
  | none =>
    let id : Int := (s.lastId + 1 : Nat)
    (id,
      { lastId := s.lastId + 1
        byId := s.byId ++ [(id, { r with id := some id })]
        byKey := s.byKey ++ [(r.naturalKey, id)] })

/-- Writes records in order and gives the ids of their rows. -/
def upsertAll (s : Store) : List Record → List Int × Store
  | [] => ([], s)
  | r :: rest =>
    let (id, s) := s.upsertOne r
    let (ids, s) := s.upsertAll rest
    (id :: ids, s)

/-- Writes a batch if all its records are valid. -/
def upsert (s : Store) (records : List Record) : Except StoreError (List Int × Store) :=
  match validate records with
  | .error e => .error e
  | .ok () => .ok (s.upsertAll records)

/-! ## Searches -/

/-- The words of a query in lower case. -/
def terms (query : String) : List (List Char) := (Text.words query.toList).map Text.lowerChars

/-- Whether one text stands somewhere in another. -/
def occursIn (needle : List Char) : List Char → Bool
  | [] => needle.isEmpty
  | c :: rest => needle.isPrefixOf (c :: rest) || occursIn needle rest

/-- Whether a record is of the kind that is wanted and its title holds every term. -/
def isMatch (terms : List (List Char)) (kind : Option Kind) (r : Record) : Bool :=
  r.kind.passes kind && terms.all (occursIn · (Text.lowerChars r.title.toList))

def compareBy (key : SortKey) (a b : Record) : Ordering :=
  match key with
  | .score => compare a.score.rank b.score.rank
  | .createdAt => a.createdAt.order b.createdAt
  | .popularity => (compare a.views b.views).then (compare a.likes b.likes)

def directed : SortOrder → Ordering → Ordering
  | .ascending, o => o
  | .descending, o => o.swap

/-- Rows without an id come first. -/
def compareIds : Option Int → Option Int → Ordering
  | none, none => .eq
  | none, some _ => .lt
  | some _, none => .gt
  | some a, some b => compare a b

/-- The order of results: by the key in its direction, ties always by ascending id. -/
def compareRows (key : SortKey) (order : SortOrder) (a b : Record) : Ordering :=
  (directed order (compareBy key a b)).then (compareIds a.id b.id)

/-- All rows that a request asks for, in its order. -/
def hits (s : Store) (r : Request) : List Record :=
  let matching := s.rows.filter (isMatch (terms r.query) r.kind)
  matching.mergeSort fun a b => compareRows r.sortBy r.sortOrder a b != .gt

/-- One page of what a request asks for, and the number of all that it asks for. -/
def search (s : Store) (r : Request) : List Record × Nat :=
  let all := s.hits r
  (Search.paginate all r.page r.pageSize, all.length)

end Store

end FeedSearch
