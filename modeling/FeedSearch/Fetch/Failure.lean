-- Why a provider contributed nothing to a fetch.
import FeedSearch.Time.Span

namespace FeedSearch.Fetch

inductive FailureCause where
  | breakerOpen
  | cancelled
  | timedOut (limit : Time.Span)
  /-- The provider failed; the causes run from the outermost to the innermost. -/
  | provider (chain : List String)
  deriving DecidableEq, Repr

namespace FailureCause

def message : FailureCause → String
  | .breakerOpen => "circuit breaker is open"
  | .cancelled => "cancelled"
  | .timedOut limit => "timed out after " ++ limit.text
  | .provider chain => ": ".intercalate chain

/-- The name under which the outcome is counted. -/
def label : FailureCause → String
  | .breakerOpen => "breaker_open"
  | .cancelled => "cancelled"
  | .timedOut _ => "timeout"
  | .provider _ => "error"

end FailureCause

structure ProviderFailure where
  provider : String
  cause : FailureCause
  deriving DecidableEq, Repr

def ProviderFailure.message (f : ProviderFailure) : String :=
  "provider " ++ f.provider ++ ": " ++ f.cause.message

/-- Failures by the name of their provider. -/
def sortFailures (failures : List ProviderFailure) : List ProviderFailure :=
  failures.mergeSort fun a b => !(b.provider < a.provider)

/-- The message of a fetch to which no provider contributed. -/
def allFailedMessage (failures : List ProviderFailure) : String :=
  "all providers failed: " ++ "; ".intercalate (failures.map ProviderFailure.message)

end FeedSearch.Fetch
