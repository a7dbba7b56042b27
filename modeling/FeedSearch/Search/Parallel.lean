-- Several searches at once on one coordinator. They start in order, and a call
-- that ends at once has ended before the next search starts. The other calls
-- end in the order of time, and a search goes on when its last call has ended.
import FeedSearch.Search.Coordinator

namespace FeedSearch.Search

open Fetch

/-! ## Searches under way -/

/-- A search that waits for so many calls to end, with what the others have brought, or one that is
over. -/
inductive Progress where
  | waiting (request : Request) (left : Nat) (merge : Merge)
  | over (outcome : Outcome)
  deriving DecidableEq, Repr

def Progress.isCrash : Progress → Bool
  | .over .crashed => true
  | _ => false

/-- The end of a call and the number of the search that made it. -/
structure Arrival where
  search : Nat
  landing : Landing
  deriving DecidableEq, Repr

namespace Coordinator

/-- Goes on to the end of a search from the result of its fetch. -/
def finish (c : Coordinator) (r : Request) (result : Result) : Progress × Coordinator :=
  let (stage, c) := c.afterFetch r result
  let (stage, c) := c.run .never stage maxStages
  (.over (Stage.outcome stage), c)

/-- A call of a search ends now. -/
def endCall (c : Coordinator) (p : Progress) (l : Landing) : Progress × Coordinator :=
  match p with
  | .over outcome => (.over outcome, c)
  | .waiting r left merge =>
    if l.outcome.isCrash then (.over .crashed, c)
    else
      let f := land ⟨c.orchestrator.breakers, c.clock, c.metrics⟩ l c.clock.running
      let c := { c with
        orchestrator := { c.orchestrator with breakers := f.breakers }
        metrics := f.metrics }
      let merge := merge.add l
      if left ≤ 1 then c.finish r merge.result else (.waiting r (left - 1) merge, c)

/-- Calls of one search end now, one after another. -/
def endCalls (c : Coordinator) (p : Progress) : List Landing → Progress × Coordinator
  | [] => (p, c)
  | l :: rest =>
    let (p, c) := c.endCall p l
    c.endCalls p rest

/-- Starts a search. What is left of its calls ends later. -/
def launch (c : Coordinator) (r : Request) : Progress × List Landing × Coordinator :=
  match c.stepLookup (normalize c.limits r) with
  | (.fetching r, c) =>
    let (landings, members, f) := startAll c.orchestrator.deadline (query r .never)
      c.orchestrator.members ⟨c.orchestrator.breakers, c.clock, c.metrics⟩
    let c := { c with
      orchestrator := { c.orchestrator with members, breakers := f.breakers }
      clock := f.clock
      metrics := f.metrics }
    if landings.isEmpty then
      let (p, c) := c.finish r Merge.empty.result
      (p, [], c)
    else
      let (p, c) := c.endCalls (.waiting r landings.length .empty) (landings.filter (·.millis == 0))
      (p, landings.filter (·.millis != 0), c)
  | (stage, c) => (.over (Stage.outcome stage), [], c)

/-- Starts searches in order; `number` is the number of the first. A crash leaves the rest
unstarted. -/
def launchAll (c : Coordinator) (number : Nat) :
    List Request → List Progress × List Arrival × Coordinator
  | [] => ([], [], c)
  | r :: rest =>
    let (p, later, c) := c.launch r
    if p.isCrash then ([p], [], c)
    else
      let (ps, arrivals, c) := c.launchAll (number + 1) rest
      (p :: ps, later.map (⟨number, ·⟩) ++ arrivals, c)

/-! ## The order of the ends -/

/-- Arrivals by time; at the same time by search, then in the order in which the calls started. -/
def byTime (arrivals : List Arrival) : List Arrival :=
  arrivals.mergeSort fun a b => a.landing.millis ≤ b.landing.millis

/-- A call ends, so long after the start of all. A crash stops everything. -/
def arrive (start : Instant) (s : List Progress × Coordinator) (a : Arrival) :
    List Progress × Coordinator :=
  let (ps, c) := s
  if ps.any Progress.isCrash then s
  else
    match ps[a.search]? with
    | none => s
    | some p =>
      let clock := c.clock.moveTo (start + 1000000 * a.landing.millis)
      let (p, c) := { c with clock }.endCall p a.landing
      (ps.set a.search p, c)

/-- The outcome of a search that is over and has not crashed. -/
def Progress.outcome? : Progress → Option Outcome
  | .over .crashed => none
  | .over outcome => some outcome
  | .waiting .. => none

/-- Runs searches at once and gives their outcomes in order, or nothing after a crash. -/
def searchAll (c : Coordinator) (requests : List Request) : Option (List Outcome) × Coordinator :=
  let (ps, arrivals, launched) := c.launchAll 0 requests
  let (ps, c) := (byTime arrivals).foldl (arrive c.clock.running) (ps, launched)
  (ps.mapM Progress.outcome?, c)

end Coordinator

end FeedSearch.Search
