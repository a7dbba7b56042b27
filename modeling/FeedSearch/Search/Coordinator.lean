-- A search: served from the cache, or fetched from the providers, scored,
-- stored, read back and cached. It runs in stages, each of which makes one
-- call to the store, the cache or the providers.
import FeedSearch.Fetch.Orchestrator
import FeedSearch.Search.Backend
import FeedSearch.Search.Error
import FeedSearch.Search.Key
import FeedSearch.Search.Relevance

namespace FeedSearch.Search

open Fetch

/-! ## The coordinator -/

/-- Everything that searches share. -/
structure Coordinator where
  orchestrator : Orchestrator
  store : StoreLink
  cache : CacheLink
  scorer : Scorer
  limits : PageLimits
  cacheTtl : Time.Span
  clock : Clock
  metrics : Metrics

/-- A coordinator with an empty store and a standard cache. -/
def Coordinator.new (orchestrator : Orchestrator) (clock : Clock) : Coordinator where
  orchestrator
  store := .reliable .empty
  cache := .memory .standard
  scorer := relevanceScorer
  limits := .standard
  cacheTtl := Cache.standardTtl
  clock
  metrics := .empty

/-! ## Outcomes -/

/-- Whether a response was in the cache. -/
inductive CacheStatus where
  | hit
  | miss
  deriving DecidableEq, Repr

def CacheStatus.name : CacheStatus → String
  | .hit => "HIT"
  | .miss => "MISS"

/-- How a search ends. -/
inductive Outcome where
  | found (response : Response) (status : CacheStatus)
  | failed (error : SearchError)
  | crashed
  deriving DecidableEq, Repr

/-! ## Stages -/

/-- How far a search has come. The request is normalized. -/
inductive Stage where
  | lookup (r : Request)
  | fetching (r : Request)
  | upserting (r : Request) (batch : List Record)
  | reading (r : Request)
  | completing (r : Request) (items : List Record) (total : Nat)
  | caching (r : Request) (items : List Record) (total : Nat) (all : List Record)
  | finished (outcome : Outcome)
  deriving DecidableEq, Repr

namespace Coordinator

/-- The response to a request that was not in the cache. -/
def missResponse (r : Request) (items : List Record) (total : Nat) : Outcome :=
  .found (.of items total r.page r.pageSize) .miss

/-- Looks for the complete list of results in the cache. -/
def stepLookup (c : Coordinator) (r : Request) : Stage × Coordinator :=
  match c.cache.get (cacheKey r) c.clock.running with
  | (some all, cache) =>
    (.finished (.found (.ofAll all r) .hit),
      { c with cache, metrics := { c.metrics with hits := c.metrics.hits + 1 } })
  | (none, cache) =>
    (.fetching r, { c with cache, metrics := { c.metrics with misses := c.metrics.misses + 1 } })

/-- Scores what has been fetched, all of it at one moment. -/
def score (c : Coordinator) (fetched : List Record) : List Record × Coordinator :=
  let (now, clock) := c.clock.read
  (fetched.map fun r => { r with score := c.scorer r now }, { c with clock })

/-- Goes on from the result of a fetch. A batch of nothing is not written. -/
def afterFetch (c : Coordinator) (r : Request) (result : Result) : Stage × Coordinator :=
  match result with
  | .crashed => (.finished .crashed, c)
  | .allFailed failures => (.finished (.failed (.provider failures)), c)
  | .records fetched =>
    let (batch, c) := c.score fetched
    if batch.isEmpty then (.reading r, c) else (.upserting r batch, c)

def query (r : Request) (cancel : Cancel) : Fetch.Query :=
  { text := r.query, kind := r.kind, cancel }

def stepFetch (c : Coordinator) (cancel : Cancel) (r : Request) : Stage × Coordinator :=
  let run := c.orchestrator.fetchAll (query r cancel) c.clock c.metrics
  let c := { c with orchestrator := run.orchestrator, clock := run.clock, metrics := run.metrics }
  afterFetch c r run.result

def stepUpsert (c : Coordinator) (r : Request) (batch : List Record) : Stage × Coordinator :=
  match c.store.upsert batch with
  | (.error e, store) => (.finished (.failed (.storage "upsert_batch" e)), { c with store })
  | (.ok _, store) => (.reading r, { c with store })

/-- Whether a page is the complete list. -/
def coversAll (r : Request) (items : List Record) (total : Nat) : Bool :=
  total == items.length && r.page == 1

/-- Reads the page that is asked for. -/
def stepRead (c : Coordinator) (r : Request) : Stage × Coordinator :=
  match c.store.search r with
  | (.error e, store) => (.finished (.failed (.storage "search" e)), { c with store })
  | (.ok (items, total), store) =>
    let c := { c with store }
    if coversAll r items total then (.caching r items total items, c)
    else (.completing r items total, c)

/-- Counts a cache write that failed; the search goes on without it. -/
def writeFailed (c : Coordinator) : Coordinator :=
  { c with metrics := { c.metrics with writeErrors := c.metrics.writeErrors + 1 } }

/-- Reads the complete list, for the cache. -/
def stepComplete (c : Coordinator) (r : Request) (items : List Record) (total : Nat) :
    Stage × Coordinator :=
  match c.store.search { r with page := 1, pageSize := total } with
  | (.error _, store) => (.finished (missResponse r items total), writeFailed { c with store })
  | (.ok (all, _), store) => (.caching r items total all, { c with store })

def stepCache (c : Coordinator) (r : Request) (items : List Record) (total : Nat)
    (all : List Record) : Stage × Coordinator :=
  match c.cache.set (cacheKey r) all c.cacheTtl c.clock.running with
  | (.written, cache) => (.finished (missResponse r items total), { c with cache })
  | (.failed, cache) => (.finished (missResponse r items total), writeFailed { c with cache })
  | (.overflow, cache) => (.finished .crashed, { c with cache })

/-- One stage of a search. -/
def step (c : Coordinator) (cancel : Cancel) : Stage → Stage × Coordinator
  | .lookup r => c.stepLookup r
  | .fetching r => c.stepFetch cancel r
  | .upserting r batch => c.stepUpsert r batch
  | .reading r => c.stepRead r
  | .completing r items total => c.stepComplete r items total
  | .caching r items total all => c.stepCache r items total all
  | .finished outcome => (.finished outcome, c)

/-! ## Searches -/

/-- Takes so many stages. -/
def run (c : Coordinator) (cancel : Cancel) (stage : Stage) : Nat → Stage × Coordinator
  | 0 => (stage, c)
  | n + 1 =>
    let (stage, c) := c.step cancel stage
    c.run cancel stage n

/-- The most stages that a search takes. -/
def maxStages : Nat := 6

def Stage.outcome : Stage → Outcome
  | .finished outcome => outcome
  | _ => .crashed

/-- Searches: all stages from the first on. -/
def search (c : Coordinator) (r : Request) (cancel : Cancel) : Outcome × Coordinator :=
  let (stage, c) := c.run cancel (.lookup (normalize c.limits r)) maxStages
  (Stage.outcome stage, c)

/-- The record of an id. -/
def getById (c : Coordinator) (id : Int) : Except SearchError Record × Coordinator :=
  match c.store.get id with
  | (.ok r, store) => (.ok r, { c with store })
  | (.error (.notFound id), store) => (.error (.notFound "content" id), { c with store })
  | (.error e, store) => (.error (.storage "get_by_id" e), { c with store })

/-- What the cache holds for a request. -/
def cached (c : Coordinator) (r : Request) : Option (List Record) × Coordinator :=
  let (records, cache) := c.cache.get (cacheKey r) c.clock.running
  (records, { c with cache })

end Coordinator

end FeedSearch.Search
