-- What settings are put together to: the providers behind their breakers, and
-- the coordinator over them.
import FeedSearch.Config.Settings
import FeedSearch.Search.Coordinator

namespace FeedSearch.Config.Settings

/-- The providers in their order, each behind a breaker of its own. -/
def orchestrator (s : Settings) (outside : Feed.Surroundings) : Fetch.Orchestrator :=
  s.providers.foldl (fun o p => o.register (p.provider.adapter outside))
    (.new (.empty s.breakerConfig) s.fetchTimeout)

/-- A coordinator with an empty store and an empty cache. -/
def coordinator (s : Settings) (outside : Feed.Surroundings) (clock : Clock) :
    Search.Coordinator :=
  { Search.Coordinator.new (s.orchestrator outside) clock with
    cache := .memory (.empty s.cacheTtl s.cache.maxEntries)
    limits := s.pageLimits
    cacheTtl := s.cacheTtl }

end FeedSearch.Config.Settings
