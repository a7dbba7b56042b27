-- Sessions of searches on one coordinator, in any order of what can happen: the
-- stages of the searches, the starts of their calls and the ends of these calls.
-- The books of a session note what has happened, apart from all counters. A search
-- that nobody interrupts is a session of its own.
import FeedSearch.Proofs.FetchLandings
import FeedSearch.Proofs.SearchStages

namespace FeedSearch.Search

open Fetch

/-! ## Searches under way -/

/-- How far a search has come: to a stage, or it waits for its providers, some of which may still
have to be called, and some calls of which may still have to end. -/
inductive Standing where
  | staged (stage : Stage)
  | calling (r : Request) (uncalled : List String) (inAir : List Landing) (merge : Merge)

/-- A search, and when its caller gives up. -/
structure Pursuit where
  cancel : Cancel
  standing : Standing

/-- A search that has found its answer with the providers. -/
def Standing.isMiss : Standing → Bool
  | .staged (.finished (.found _ .miss)) => true
  | _ => false

/-- A search that is over and has not crashed. -/
def Standing.IsOver (s : Standing) : Prop :=
  ∃ outcome, s = .staged (.finished outcome) ∧ outcome ≠ .crashed

/-- A fetch comes to a provider, whose breaker may reject the call, and whose adapter is called or
not. -/
structure Approach where
  provider : String
  rejected : Bool
  called : Bool
  deriving DecidableEq, Repr

/-- What has happened: the number of fetches, all that they came to, and the number of entries that
were written to the cache. -/
structure Books where
  fetches : Nat
  approaches : List Approach
  written : Nat

namespace Books

def empty : Books := ⟨0, [], 0⟩

def append (b b' : Books) : Books :=
  ⟨b.fetches + b'.fetches, b.approaches ++ b'.approaches, b.written + b'.written⟩

@[simp] theorem append_fetches (b b' : Books) : (b.append b').fetches = b.fetches + b'.fetches :=
  rfl

@[simp] theorem append_approaches (b b' : Books) :
    (b.append b').approaches = b.approaches ++ b'.approaches := rfl

@[simp] theorem append_written (b b' : Books) : (b.append b').written = b.written + b'.written :=
  rfl

end Books

/-! ## Moves of one search -/

/-- A search goes on as far as it can, or one of its calls ends. -/
inductive Move where
  | go
  | land (place : Nat)

namespace Coordinator

variable (c : Coordinator)

def field : Field := ⟨c.orchestrator.breakers, c.clock, c.metrics⟩

def withField (f : Field) : Coordinator :=
  { c with
    orchestrator := { c.orchestrator with breakers := f.breakers }
    clock := f.clock
    metrics := f.metrics }

def member? (name : String) : Option Member :=
  c.orchestrator.members.find? (·.adapter.name == name)

/-- Puts a member in the place of the one of its name. -/
def withMember (m : Member) : Coordinator :=
  { c with
    orchestrator := { c.orchestrator with
      members := c.orchestrator.members.map fun n =>
        if n.adapter.name == m.adapter.name then m else n } }

/-- The start of the call to one member: how it will end, and the member after it. -/
def call (cancel : Cancel) (r : Request) (m : Member) : Landing × Member × Field :=
  start c.orchestrator.deadline (query r cancel) m c.field

def approach (cancel : Cancel) (r : Request) (m : Member) : Approach where
  provider := m.adapter.name
  rejected := !c.orchestrator.breakers.admits m.adapter.name c.clock.running
  called := (c.call cancel r m).2.1.calls.length != m.calls.length

def landNow (l : Landing) : Coordinator := c.withField (land c.field l c.clock.running)

/-- Whether a stage writes an entry to the cache. -/
def writes : Stage → Bool
  | .caching r _ _ all => (c.cache.set (cacheKey r) all c.cacheTtl c.clock.running).1 == .written
  | _ => false

/-- A search goes on: by a stage, with the start of its fetch or of the next call of this, or from
the result of the fetch, once all calls have ended. -/
def go (cancel : Cancel) : Standing → Standing × Coordinator × Books
  | .staged (.fetching r) =>
    (.calling r c.orchestrator.names [] .empty, c, { Books.empty with fetches := 1 })
  | .staged stage =>
    (.staged (c.step cancel stage).1, (c.step cancel stage).2,
      { Books.empty with written := (c.writes stage).toNat })
  | .calling r (name :: uncalled) inAir merge =>
    match c.member? name with
    | none => (.calling r (name :: uncalled) inAir merge, c, .empty)
    | some m =>
      (.calling r uncalled (inAir ++ [(c.call cancel r m).1]) merge,
        (c.withMember (c.call cancel r m).2.1).withField (c.call cancel r m).2.2,
        { Books.empty with approaches := [c.approach cancel r m] })
  | .calling r [] [] merge =>
    (.staged (c.afterFetch r merge.result).1, (c.afterFetch r merge.result).2, .empty)
  | .calling r [] (l :: inAir) merge => (.calling r [] (l :: inAir) merge, c, .empty)

/-- One of the calls in the air ends now. A crash ends the search. -/
def endOne (place : Nat) : Standing → Standing × Coordinator × Books
  | .staged stage => (.staged stage, c, .empty)
  | .calling r uncalled inAir merge =>
    match inAir[place]? with
    | none => (.calling r uncalled inAir merge, c, .empty)
    | some l =>
      if l.outcome.isCrash then (.staged (.finished .crashed), c, .empty)
      else (.calling r uncalled (inAir.eraseIdx place) (merge.add l), c.landNow l, .empty)

def move (cancel : Cancel) (s : Standing) : Move → Standing × Coordinator × Books
  | .go => c.go cancel s
  | .land place => c.endOne place s

end Coordinator

/-! ## Sessions -/

/-- A coordinator with the searches that have been made on it, and what has happened so far. -/
structure Session where
  shared : Coordinator
  pursuits : List Pursuit
  books : Books

namespace Session

/-- What can happen: a search starts, the search with a number makes a move, or everything around
the searches changes in any way: the store, the cache, the clock, the breakers and what the adapters
reply. -/
inductive Act where
  | start (r : Request) (cancel : Cancel)
  | move (number : Nat) (move : Move)
  | change (store : StoreLink) (cache : CacheLink) (clock : Clock) (breakers : Breakers)
      (reply : String → Call → Reply)

/-- A coordinator on which nobody has searched yet. -/
def of (c : Coordinator) : Session := ⟨c, [], .empty⟩

def act (w : Session) : Act → Session
  | .start r cancel => { w with
      pursuits := w.pursuits ++ [⟨cancel, .staged (.lookup (normalize w.shared.limits r))⟩] }
  | .move number move =>
    match w.pursuits[number]? with
    | none => w
    | some s =>
      let (standing, shared, books) := w.shared.move s.cancel s.standing move
      { shared
        pursuits := w.pursuits.set number { s with standing }
        books := w.books.append books }
  | .change store cache clock breakers reply => { w with
      shared := { w.shared with
        store
        cache
        clock
        orchestrator := { w.shared.orchestrator with
          breakers
          members := w.shared.orchestrator.members.map fun m =>
            { m with adapter := { m.adapter with reply := reply m.adapter.name } } } } }

/-- All that happens, in order. -/
def play (w : Session) (acts : List Act) : Session := acts.foldl act w

theorem act_move {w : Session} {number : Nat} {s : Pursuit} (hs : w.pursuits[number]? = some s)
    (m : Move) : w.act (.move number m) =
      ⟨(w.shared.move s.cancel s.standing m).2.1,
        w.pursuits.set number { s with standing := (w.shared.move s.cancel s.standing m).1 },
        w.books.append (w.shared.move s.cancel s.standing m).2.2⟩ := by
  simp only [act, hs]

end Session

end FeedSearch.Search
