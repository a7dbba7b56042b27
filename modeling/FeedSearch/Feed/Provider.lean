-- Providers of feeds: each loads a payload and reads it as records.
import FeedSearch.Feed.Payload
import FeedSearch.Feed.RateLimit
import FeedSearch.Feed.Source

namespace FeedSearch.Feed

open Fetch

/-! ## Providers -/

structure Provider where
  name : String
  format : Format
  location : Location
  policy : RetryPolicy
  limit : Option RateLimit
  deriving DecidableEq, Repr

/-- A provider of a fixed text. -/
def Provider.ofText (name : String) (format : Format) (text : String) (limit : Option RateLimit) :
    Provider :=
  { name, format, location := .inline text, policy := .none, limit }

/-- Why a call to a provider gave no records. -/
inductive ProviderFault where
  | loading (chain : List String)
  | parsing (body : String) (fault : PayloadFault)
  deriving DecidableEq, Repr

/-- Whether a call crashes. -/
def ProviderFault.isCrash : ProviderFault → Bool
  | .loading _ => false
  | .parsing _ fault => fault.isCrash

namespace Provider

/-- The causes of a fault, from the outermost to the innermost. -/
def chain (p : Provider) : ProviderFault → List String
  | .loading chain => chain
  | .parsing body fault => Feed.parsing p.format p.name :: fault.chain body

/-! ## Calls -/

/-- How many milliseconds the limit makes a call wait. -/
def wait (p : Provider) (s : Surroundings) (c : Call) : Nat :=
  (p.limit.map fun l => s.limiter p.name l c).getD 0

/-- Loads the payload and reads it, the limit left aside. Items without a date have the time of day
at which the payload is read. Gives the milliseconds it took. -/
def fetch (p : Provider) (s : Surroundings) (c : Call) (cancel : Cancel) :
    Nat × Except ProviderFault (List Record) :=
  match p.location.load s p.policy c.query c.kind cancel with
  | (millis, .error causes) =>
    (millis, .error (.loading (("loading " ++ p.location.describe) :: causes)))
  | (millis, .ok body) =>
    let fetchedAt := (c.later millis).wall
    (millis, (records p.format p.name body c.kind fetchedAt).mapError (.parsing body))

/-- Makes a call, after a wait where the limit asks for one. The wait ends early for a caller who
gives up. -/
def call (p : Provider) (s : Surroundings) (c : Call) (cancel : Cancel) :
    Nat × Except ProviderFault (List Record) :=
  let wait := p.wait s c
  match cancel.during? wait with
  | some millis => (millis, .error (.loading ["cancelled while waiting for rate limit"]))
  | none =>
    let (millis, result) := p.fetch s (c.later wait) (cancel.later wait)
    (wait + millis, result)

/-- Within the burst a provider answers as it would without a limit. -/
theorem call_of_bursts {p : Provider} {s : Surroundings} {c : Call} (h : s.limiter.Bursts)
    (hc : ∀ l ∈ p.limit, c.index < l.perMinute.toNat) (cancel : Cancel) :
    p.call s c cancel = ({ p with limit := none } : Provider).call s c cancel := by
  have hwait : p.wait s c = 0 := by
    unfold wait
    cases hlimit : p.limit with
    | none => rfl
    | some l => exact h p.name l c (hc l hlimit)
  unfold call
  rw [hwait]
  rfl

/-- What comes back from a call that is left to run. -/
def answer (p : Provider) : Except ProviderFault (List Record) → Answer
  | .ok records => .records records
  | .error fault => if fault.isCrash then .crash else .failure (p.chain fault)

/-- The provider as an adapter, whose calls run to their end. -/
def adapter (p : Provider) (s : Surroundings) : Adapter where
  name := p.name
  reply c :=
    let (millis, result) := p.call s c .never
    { delay := some millis, answer := p.answer result, parsed := result.toBool }

end Provider

end FeedSearch.Feed
