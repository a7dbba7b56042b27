-- A probe of the providers: one fetch, and a summary of what came back.
import FeedSearch.Api.Reports
import FeedSearch.Config.Assembly
import FeedSearch.Config.Load

namespace FeedSearch.Probe

open Json

/-! ## What is asked for -/

/-- The query and the kind that are wanted; what else there is on the line does not count. -/
structure Arguments where
  query : String
  kind : Option Kind
  deriving DecidableEq, Repr

/-- Reads the words of a command line. -/
def Arguments.ofWords (words : List String) : Except InputFault Arguments := do
  let kind ← Kind.filterOfName words[1]?
  return { query := words[0]?.getD "", kind }

/-! ## Summaries -/

/-- Counts one more of a name; names are kept in order. -/
def tally (name : String) : List (String × Nat) → List (String × Nat)
  | [] => [(name, 1)]
  | (other, n) :: rest =>
    if name == other then (other, n + 1) :: rest
    else if name < other then (name, 1) :: (other, n) :: rest
    else (other, n) :: tally name rest

/-- How many records each provider gave. -/
def perProvider (records : List Record) : List (String × Nat) :=
  records.foldl (fun counts r => tally r.provider counts) []

/-- A breaker, its members in the order of their names. -/
def breakerJson (s : BreakerSnapshot) : Value :=
  .object [
    ("consecutive_failures", .count s.failures),
    ("provider", .text s.provider),
    ("state", .text s.state.name)]

/-- The summary of a fetch. A fetch that crashes has none. -/
def summary (result : Fetch.Result) (bs : Breakers) : Option Value :=
  match result with
  | .records records => some (.object [
      ("breakers", .list (bs.snapshots.map breakerJson)),
      ("ok", .truth true),
      ("per_provider", .object ((perProvider records).map fun (name, n) => (name, .count n))),
      ("total", .count records.length)])
  | .allFailed failures => some (.object [
      ("breakers", .list (bs.snapshots.map breakerJson)),
      ("error", .text (Fetch.allFailedMessage failures)),
      ("failures", .list (failures.map Api.failureJson)),
      ("ok", .truth false)])
  | .crashed => none

/-! ## Runs -/

/-- Why a probe does not run. -/
inductive Fault where
  | arguments (f : InputFault)
  | settings (f : Config.LoadFault)
  deriving DecidableEq, Repr

def Fault.headline : Fault → String
  | .arguments f => f.message
  | .settings f => f.headline

def Fault.cause : Fault → Option String
  | .arguments _ => none
  | .settings f => f.cause

/-- The lines that report a fault: what could not be done, and why. -/
def Fault.report (f : Fault) : String :=
  "Error: " ++ f.headline ++ (f.cause.map ("\n\nCaused by:\n    " ++ ·)).getD ""

/-- One fetch from the providers of the settings. -/
def fetch (s : Config.Settings) (outside : Feed.Surroundings) (clock : Clock) (a : Arguments) :
    Option Value :=
  let run := (s.orchestrator outside).fetchAll { text := a.query, kind := a.kind, cancel := .never }
    clock .empty
  summary run.result run.orchestrator.breakers

/-- Runs a probe. The words are read before the settings. -/
def run (words : List String) (outside : Feed.Surroundings) (env : Config.Environment)
    (clock : Clock) : Except Fault (Option Value) := do
  let a ← (Arguments.ofWords words).mapError .arguments
  let s ← (Config.Settings.load outside.files env).mapError .settings
  return fetch s outside clock a

end FeedSearch.Probe
