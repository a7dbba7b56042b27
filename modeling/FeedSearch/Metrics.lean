-- Counters of events, and their text: a line for each series, in order.
import FeedSearch.Breaker

namespace FeedSearch

/-! ## Counters -/

/-- Counts by name, in the order of first use. -/
abbrev Counts (κ : Type) := List (κ × Nat)

namespace Counts

variable {κ : Type} [BEq κ]

def get (c : Counts κ) (k : κ) : Nat := (c.lookup k).getD 0

/-- Counts one more event. -/
def add (c : Counts κ) (k : κ) : Counts κ :=
  match c.lookup k with
  | some _ => c.map fun e => if e.1 == k then (e.1, e.2 + 1) else e
  | none => c ++ [(k, 1)]

end Counts

/-- What is counted: searches by what the cache had, cache writes that failed, fetches of a
provider by outcome, their number, payloads read, and the last state of every breaker. -/
structure Metrics where
  hits : Nat
  misses : Nat
  writeErrors : Nat
  outcomes : Counts (String × String)
  fetches : Counts String
  parses : Counts String
  gauges : List (String × BreakerState)
  deriving Repr

namespace Metrics

def empty : Metrics := ⟨0, 0, 0, [], [], [], []⟩

def setGauge (m : Metrics) (provider : String) (s : BreakerState) : Metrics :=
  { m with gauges := m.gauges.filter (·.1 != provider) ++ [(provider, s)] }

/-- A fetch of a provider is over: its outcome, and the state of its breaker after it. -/
def onFetch (m : Metrics) (provider outcome : String) (s : BreakerState) : Metrics :=
  { m.setGauge provider s with
    outcomes := m.outcomes.add (provider, outcome)
    fetches := m.fetches.add provider }

def onParse (m : Metrics) (provider : String) : Metrics :=
  { m with parses := m.parses.add provider }

/-! ## Text -/

/-- The text of a label. A backslash may stand for itself, or escape what follows: `held` says that
one has been met and not been written. -/
def labelChars (held : Bool) : List Char → List Char
  | [] => if held then ['\\', '\\'] else []
  | '\n' :: rest => '\\' :: 'n' :: labelChars held rest
  | '"' :: rest => '\\' :: '"' :: labelChars false rest
  | '\\' :: rest =>
    if held then '\\' :: '\\' :: labelChars false rest else labelChars true rest
  | c :: rest => (if held then ['\\', '\\'] else []) ++ c :: labelChars false rest

def label (name value : String) : String :=
  name ++ "=\"" ++ String.ofList (labelChars false value.toList) ++ "\""

/-- A series: its name with its labels, and its value. -/
abbrev Series := String × Nat

def series (name : String) (labels : List String) (value : Nat) : Series :=
  let body := if labels.isEmpty then "" else "\x7b" ++ ",".intercalate labels ++ "\x7d"
  (name ++ body, value)

/-- The series of a counter that has counted something. -/
def counterSeries (name : String) (n : Nat) : List Series :=
  if n == 0 then [] else [series name [] n]

/-- Two providers may have labels of one text. Their series are one then, of a joint value. -/
def united (join : Nat → Nat → Nat) (all : List Series) : List Series :=
  all.foldl (fun done s =>
    if (done.lookup s.1).isSome then
      done.map fun t => if t.1 == s.1 then (t.1, join t.2 s.2) else t
    else done ++ [s]) []

/-- Counters and states, of which the latest value counts. -/
def valueSeries (m : Metrics) : List Series :=
  counterSeries "search_cache_hits_total" m.hits ++
  counterSeries "search_cache_misses_total" m.misses ++
  counterSeries "search_cache_write_errors_total" m.writeErrors ++
  m.gauges.map (fun (p, s) => series "provider_breaker_state" [label "provider" p] s.gauge) ++
  m.outcomes.map fun ((p, o), n) =>
    series "provider_fetch_total" [label "provider" p, label "outcome" o] n

/-- Numbers of measurements, which add up. -/
def measureSeries (m : Metrics) : List Series :=
  m.fetches.map (fun (p, n) => series "provider_fetch_ms_count" [label "provider" p] n) ++
  m.parses.map fun (p, n) => series "provider_parse_ms_count" [label "provider" p] n

/-- A line for each series, sorted. -/
def lines (m : Metrics) : List String :=
  let all := united (fun _ n => n) m.valueSeries ++ united (· + ·) m.measureSeries
  (all.map fun (name, n) => name ++ " " ++ toString n).mergeSort fun a b => !(b < a)

end Metrics

end FeedSearch
