-- What the service says in JSON: results, breaker states and errors.
import FeedSearch.Breakers
import FeedSearch.Content.RecordJson
import FeedSearch.Http.Message
import FeedSearch.Search.Coordinator

namespace FeedSearch.Api

open Json

/-! ## Results -/

def responseJson (r : Search.Response) : Value :=
  .object [
    ("items", .list (r.items.map Record.toJson)),
    ("total", .count r.total),
    ("page", .count r.page),
    ("page_size", .count r.pageSize),
    ("total_pages", .count r.totalPages)]

def snapshotJson (s : BreakerSnapshot) : Value :=
  .object [
    ("provider", .text s.provider),
    ("state", .text s.state.name),
    ("consecutive_failures", .count s.failures)]

def breakersJson (bs : Breakers) : Value := .list (bs.snapshots.map snapshotJson)

/-! ## Errors -/

def failureJson (f : Fetch.ProviderFailure) : Value :=
  .object [("cause", .text f.cause.message), ("provider", .text f.provider)]

/-- The status of an error, and what is known about it. -/
def errorDetails : SearchError → Nat × Value
  | .notFound resource id => (404, .object [("id", .integer id), ("resource", .text resource)])
  | .invalidInput fault => (400, .object [("field", .text fault.field.name)])
  | .provider failures =>
    (503, .object [("providers", .list (failures.map failureJson)), ("retryable", .truth true)])
  | .storage operation _ => (500, .object [("operation", .text operation)])

def errorResponse (e : SearchError) : Http.Response :=
  let (status, details) := errorDetails e
  .ofJson status
    (.object [("error", .text e.message), ("code", .text e.code), ("details", details)])

/-- The response of a request that has crashed. -/
def crashResponse : Http.Response :=
  .ofJson 500 (.object [("error", .text "internal server error"), ("code", .text "INTERNAL_ERROR")])

end FeedSearch.Api
