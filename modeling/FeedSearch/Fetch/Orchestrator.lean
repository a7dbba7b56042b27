-- The fetch from all providers at once. Every call is guarded by the breaker of
-- its provider; what comes back is merged in the order in which the calls end.
import FeedSearch.Breakers
import FeedSearch.Clock
import FeedSearch.Fetch.Guard
import FeedSearch.Metrics

namespace FeedSearch.Fetch

/-! ## Providers -/

/-- A registered adapter and the calls made to it, oldest first. -/
structure Member where
  adapter : Adapter
  calls : List Call

structure Orchestrator where
  members : List Member
  breakers : Breakers
  deadline : Time.Span

/-! ## Starting calls -/

/-- What a fetch asks for, and when its caller gives up. -/
structure Query where
  text : String
  kind : Option Kind
  cancel : Cancel
  deriving DecidableEq, Repr

/-- The end of a call that has been started: whose, after how many milliseconds, and how. -/
structure Landing where
  provider : String
  millis : Nat
  outcome : Outcome
  deriving DecidableEq, Repr

/-- The state on which calls work: breakers, clock and counters. -/
structure Field where
  breakers : Breakers
  clock : Clock
  metrics : Metrics

/-- The call that a member would be made next. -/
def Member.nextCall (m : Member) (q : Query) (wall : Time.Moment) : Call :=
  { index := m.calls.length, query := q.text, kind := q.kind, wall }

/-- Starts the call to one member, unless its breaker rejects it. -/
def start (deadline : Time.Span) (q : Query) (m : Member) (f : Field) : Landing × Member × Field :=
  let name := m.adapter.name
  let (admitted, breakers) := f.breakers.enter name f.clock.running
  let f := { f with breakers }
  if !admitted then ({ provider := name, millis := 0, outcome := .failure .breakerOpen }, m, f)
  else if q.cancel == .already then
    ({ provider := name, millis := 0, outcome := .failure .cancelled }, m, f)
  else
    let (wall, clock) := f.clock.read
    let call := m.nextCall q wall
    let reply := m.adapter.reply call
    let (millis, outcome) := guardCall deadline q.cancel reply
    let metrics := if reply.parsed && outcome.isRecords then f.metrics.onParse name else f.metrics
    ({ provider := name, millis, outcome }, { m with calls := m.calls ++ [call] },
      { f with clock, metrics })

/-- Starts the calls in order. A call that crashes at once leaves the rest unstarted. -/
def startAll (deadline : Time.Span) (q : Query) : List Member → Field →
    List Landing × List Member × Field
  | [], f => ([], [], f)
  | m :: rest, f =>
    let (landing, m, f) := start deadline q m f
    if landing.millis == 0 && landing.outcome.isCrash then ([landing], m :: rest, f)
    else
      let (landings, rest, f) := startAll deadline q rest f
      (landing :: landings, m :: rest, f)

/-! ## Ending calls -/

/-- The name under which an outcome is counted. -/
def outcomeLabel : Outcome → String
  | .records _ => "ok"
  | .failure cause => cause.label
  | .crash => "crash"

/-- Tells the breaker how a call that it let through has ended. -/
def settleBreaker (bs : Breakers) (l : Landing) (now : Instant) : Breakers :=
  match l.outcome with
  | .records _ => bs.onSuccess l.provider
  | .failure .breakerOpen => bs
  | .failure _ => bs.onFailure l.provider now
  | .crash => bs

/-- A call ends. A crash leaves no trace. -/
def land (f : Field) (l : Landing) (now : Instant) : Field :=
  match l.outcome with
  | .crash => f
  | outcome =>
    let breakers := settleBreaker f.breakers l now
    let state := ((breakers.find? l.provider).getD .fresh).state
    { f with breakers, metrics := f.metrics.onFetch l.provider (outcomeLabel outcome) state }

/-- The landings in the order in which they happen; at the same time in the order of start. -/
def inOrder (landings : List Landing) : List Landing :=
  landings.mergeSort fun a b => a.millis ≤ b.millis

/-! ## Results -/

/-- What has been merged so far, in the order of the ends. -/
structure Merge where
  records : List Record
  failures : List ProviderFailure
  deriving DecidableEq, Repr

def Merge.empty : Merge := ⟨[], []⟩

def Merge.add (m : Merge) (l : Landing) : Merge :=
  match l.outcome with
  | .records records => { m with records := m.records ++ records }
  | .failure cause => { m with failures := m.failures ++ [{ provider := l.provider, cause }] }
  | .crash => m

/-- How a fetch ends. -/
inductive Result where
  | records (records : List Record)
  | allFailed (failures : List ProviderFailure)
  | crashed
  deriving DecidableEq, Repr

/-- A fetch fails only if nothing came back and something failed. -/
def Merge.result (m : Merge) : Result :=
  if m.records.isEmpty && !m.failures.isEmpty then .allFailed m.failures else .records m.records

/-- The landings up to a crash. -/
def beforeCrash (landings : List Landing) : List Landing :=
  landings.takeWhile (!·.outcome.isCrash)

/-- The milliseconds after which a fetch is over: at its last landing, or at its first crash. -/
def elapsed (ordered : List Landing) : Nat :=
  match ordered.find? (·.outcome.isCrash) with
  | some l => l.millis
  | none => (ordered.getLast?.map (·.millis)).getD 0

def resultOf (ordered : List Landing) : Result :=
  if ordered.any (·.outcome.isCrash) then .crashed else (ordered.foldl Merge.add .empty).result

/-! ## The orchestrator -/

/-- A fetch that is over: its result, the milliseconds that it took, and the state it leaves. -/
structure FetchRun where
  result : Result
  millis : Nat
  orchestrator : Orchestrator
  clock : Clock
  metrics : Metrics

namespace Orchestrator

def standardDeadline : Time.Span := .ofSeconds 10

def new (breakers : Breakers) (deadline : Time.Span) : Orchestrator :=
  { members := [], breakers, deadline }

/-- Adds an adapter at the end. An adapter of the same name goes. -/
def register (o : Orchestrator) (adapter : Adapter) : Orchestrator :=
  { o with
    members := o.members.filter (·.adapter.name != adapter.name) ++ [{ adapter, calls := [] }] }

/-- Gives the member of a name another adapter. The calls made to it stay. -/
def exchange (o : Orchestrator) (adapter : Adapter) : Orchestrator :=
  { o with
    members := o.members.map fun m =>
      if m.adapter.name == adapter.name then { m with adapter } else m }

def names (o : Orchestrator) : List String := o.members.map (·.adapter.name)

/-- Fetches from all members and waits for all of them. -/
def fetchAll (o : Orchestrator) (q : Query) (clock : Clock) (metrics : Metrics) : FetchRun :=
  let (landings, members, f) := startAll o.deadline q o.members ⟨o.breakers, clock, metrics⟩
  let ordered := inOrder landings
  let f := (beforeCrash ordered).foldl (fun f l => land f l (clock.pass l.millis).running) f
  let millis := elapsed ordered
  { result := resultOf ordered
    millis
    orchestrator := { o with members, breakers := f.breakers }
    clock := f.clock.pass millis
    metrics := f.metrics }

end Orchestrator

end FeedSearch.Fetch
