-- The application: the service that settings describe, and its counters on a
-- page of their own.
import FeedSearch.Api.Router
import FeedSearch.Config.Assembly

namespace FeedSearch.App

open Search

/-- Where the counters are shown. -/
def metricsPath : String := "/metrics"

/-- The counters as they are. -/
def answerMetrics (c : Coordinator) : Http.Response × Coordinator :=
  (.ofText 200 ("\n".intercalate c.metrics.lines), c)

/-- The answer to a request. The page of counters is outside the service, whose headers it does not
have; neither does the response to a path that leads nowhere. -/
def handle (c : Coordinator) (freshId : String) (q : Http.Request) : Http.Response × Coordinator :=
  if q.path == metricsPath then Api.byMethod q.method answerMetrics c
  else
    match Api.Route.ofPath q.path with
    | none => (.bare 404, c)
    | some _ => Api.handle c freshId q

end FeedSearch.App
