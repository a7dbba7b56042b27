-- Errors of a search as its caller sees them.
import FeedSearch.Fetch.Failure
import FeedSearch.Store

namespace FeedSearch

inductive SearchError where
  | notFound (resource : String) (id : Int)
  | invalidInput (fault : InputFault)
  /-- Every provider failed and nothing was fetched. -/
  | provider (failures : List Fetch.ProviderFailure)
  | storage (operation : String) (cause : StoreError)
  deriving DecidableEq, Repr

namespace SearchError

def message : SearchError → String
  | .notFound resource _ => resource ++ " not found"
  | .invalidInput fault => fault.message
  | .provider failures => "provider error: " ++ Fetch.allFailedMessage failures
  | .storage operation _ => "database error during " ++ operation

/-- A code for programs. -/
def code : SearchError → String
  | .notFound .. => "NOT_FOUND"
  | .invalidInput _ => "INVALID_INPUT"
  | .provider _ => "PROVIDER_ERROR"
  | .storage .. => "DATABASE_ERROR"

/-- Whether the same request may succeed later. -/
def isRetryable : SearchError → Bool
  | .provider _ => true
  | _ => false

end SearchError

end FeedSearch
