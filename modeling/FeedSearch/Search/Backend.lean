-- What a search stands on: a store that may be out of reach for single calls,
-- and a cache that may be out of order.
import FeedSearch.Cache
import FeedSearch.Store

namespace FeedSearch.Search

/-! ## The store and its outages -/

inductive StoreOperation where
  | search
  | upsert
  | get
  deriving DecidableEq, Repr

def StoreOperation.name : StoreOperation → String
  | .search => "search"
  | .upsert => "upsert"
  | .get => "get"

/-- A store, the calls on which it is out of reach, counted from one for each operation, and the
calls so far. -/
structure StoreLink where
  store : Store
  isOut : StoreOperation → Nat → Bool
  calls : StoreOperation → Nat

namespace StoreLink

def noCalls : StoreOperation → Nat := fun _ => 0

/-- A store that is always in reach. -/
def reliable (store : Store) : StoreLink := { store, isOut := fun _ _ => false, calls := noCalls }

/-- Counts a call, and says whether the store is out of reach for it. -/
def call (l : StoreLink) (op : StoreOperation) : Except StoreError Unit × StoreLink :=
  let n := l.calls op + 1
  let l := { l with calls := fun o => if o = op then n else l.calls o }
  let answer :=
    if l.isOut op n then .error (.unavailable (op.name ++ " call " ++ toString n)) else .ok ()
  (answer, l)

def search (l : StoreLink) (r : Request) : Except StoreError (List Record × Nat) × StoreLink :=
  match l.call .search with
  | (.error e, l) => (.error e, l)
  | (.ok (), l) => (.ok (l.store.search r), l)

def get (l : StoreLink) (id : Int) : Except StoreError Record × StoreLink :=
  match l.call .get with
  | (.error e, l) => (.error e, l)
  | (.ok (), l) => (l.store.get id, l)

def upsert (l : StoreLink) (records : List Record) : Except StoreError (List Int) × StoreLink :=
  match l.call .upsert with
  | (.error e, l) => (.error e, l)
  | (.ok (), l) =>
    match l.store.upsert records with
    | .error e => (.error e, l)
    | .ok (ids, store) => (.ok ids, { l with store })

end StoreLink

/-! ## The cache -/

/-- A cache in memory, or one that never holds anything and cannot be written. -/
inductive CacheLink where
  | memory (cache : Cache)
  | broken

/-- How a write to the cache ends. An overflow is no error that the writer sees: it ends the run of
the search. -/
inductive CacheWrite where
  | written
  | failed
  | overflow
  deriving DecidableEq, Repr

namespace CacheLink

def size : CacheLink → Nat
  | .memory cache => cache.size
  | .broken => 0

def get (l : CacheLink) (key : String) (now : Instant) : Option (List Record) × CacheLink :=
  match l with
  | .memory cache =>
    let (records, cache) := cache.get key now
    (records, .memory cache)
  | .broken => (none, .broken)

def set (l : CacheLink) (key : String) (records : List Record) (ttl : Time.Span) (now : Instant) :
    CacheWrite × CacheLink :=
  match l with
  | .memory cache =>
    let (fits, cache) := cache.set key records ttl now
    (if fits then .written else .overflow, .memory cache)
  | .broken => (.failed, .broken)

end CacheLink

end FeedSearch.Search
